import ReloadedBuffers.Foundation.SpinLock
import ReloadedBuffers.Foundation.Transition
import ReloadedBuffers.Internal.Allocate
import ReloadedBuffers.Internal.LocatorHeaderFinder

/-! Threads that look for the first locator without memory mapped files. The cached
address is tested before the lock is taken, and is not tested again under it.
-/

set_option autoImplicit false

namespace ReloadedBuffers

namespace PrivateFinder

/-- Where a thread is. -/
inductive Pc where
  | idle
  /-- About to test the cache without the lock. -/
  | isCached
  /-- About to load the cached address that it returns. -/
  | returnCached
  | lock
  | allocate
  | storeAddress (allocation : LocatorItem)
  | initializing (length : Nat)
  /-- About to load the address from the cache, which it returns after unlocking. -/
  | loadAddress
  | unlock (address : Nat)
  deriving DecidableEq, Repr

/-- The process. `initialized` records the addresses at which a first locator has been
initialised, and `returned` what calls have returned. -/
structure State (τ σ : Type) where
  locatorHeaderAddress : Nat
  globalLock : Bool
  pc : τ → Pc
  memory : Memory
  system : σ
  initialized : List Nat
  returned : List (τ × Nat)

inductive Action where
  | find
  /-- The next step of the call that the thread is in. -/
  | run
  deriving DecidableEq, Repr

/-- What the first locator is allocated with. -/
def settings (target : Target) : BufferAllocatorSettings where
  minAddress := 0
  maxAddress := target.sysInfo.maxAddress
  size := UInt32.ofNat target.granularity
  targetProcessId := target.sysInfo.thisProcessId
  retryCount := 8
  bruteForce := true

namespace State

variable {τ σ : Type} [DecidableEq τ]

def goto (state : State τ σ) (thread : τ) (pc : Pc) : State τ σ :=
  { state with pc := Function.update state.pc thread pc }

def run (target : Target) (os : Os σ) (fuel : Nat) (state : State τ σ) (thread : τ) : Option (State τ σ) :=
  match state.pc thread with
  | .idle => none
  | .isCached => some (state.goto thread (if state.locatorHeaderAddress = 0 then .lock else .returnCached))
  | .returnCached =>
    some { state.goto thread .idle with returned := (thread, state.locatorHeaderAddress) :: state.returned }
  | .lock =>
    if state.globalLock then some state
    else some { state.goto thread .allocate with globalLock := true }
  | .allocate =>
    match ReloadedBuffers.allocate target os fuel (settings target) state.system with
    | none => none
    -- `unwrap` panics, which drops the guard of the lock.
    | some (.error _, system) => some { state.goto thread .idle with globalLock := false, system }
    | some (.ok allocation, system) => some { state.goto thread (.storeAddress allocation) with system }
  | .storeAddress allocation =>
    some { state.goto thread (.initializing allocation.size.toNat) with locatorHeaderAddress := allocation.baseAddress }
  | .initializing length =>
    -- A write to null ends the process.
    if state.locatorHeaderAddress = 0 then none
    else some { state.goto thread .loadAddress with
      memory := Store.applyAll state.memory (Store.initializeHeader target state.locatorHeaderAddress length)
      initialized := state.locatorHeaderAddress :: state.initialized }
  | .loadAddress => some (state.goto thread (.unlock state.locatorHeaderAddress))
  | .unlock address =>
    some { state.goto thread .idle with globalLock := false, returned := (thread, address) :: state.returned }

def step (target : Target) (os : Os σ) (fuel : Nat) (state : State τ σ) : τ × Action → Option (State τ σ)
  | (thread, .run) => state.run target os fuel thread
  | (thread, .find) => if state.pc thread = .idle then some (state.goto thread .isCached) else none

/-- A process in which nothing has looked for the locator. -/
structure Initial (state : State τ σ) : Prop where
  null : state.locatorHeaderAddress = 0
  idle : ∀ thread, state.pc thread = .idle
  initialized : state.initialized = []
  returned : state.returned = []

end State

variable {τ σ : Type}

/-- The lock is only acquired while no address is cached: what the test before it has
found still holds. -/
def Unfilled (state : State τ σ) (label : τ × Action) : Prop :=
  label.2 = .run → state.pc label.1 = .lock → state.globalLock = false → state.locatorHeaderAddress = 0

instance (state : State τ σ) (label : τ × Action) : Decidable (Unfilled state label) :=
  inferInstanceAs (Decidable (label.2 = .run → state.pc label.1 = .lock → state.globalLock = false →
    state.locatorHeaderAddress = 0))

/-- The thread holds the lock. -/
def Pc.holds : Pc → Bool
  | .idle | .isCached | .returnCached | .lock => false
  | .allocate | .storeAddress _ | .initializing _ | .loadAddress | .unlock _ => true

/-- What a thread may rely on where it is. -/
def Pc.Knows (address : Nat) (initialized : List Nat) : Pc → Prop
  | .allocate | .storeAddress _ => address = 0 ∧ initialized = []
  | .initializing _ => initialized = []
  | .loadAddress => address ≠ 0 ∧ initialized = [address]
  | .unlock loaded => address ≠ 0 ∧ initialized = [address] ∧ loaded = address
  | .returnCached => address ≠ 0
  | .idle | .isCached | .lock => True

structure Inv (state : State τ σ) : Prop where
  guards : SpinLock.Guards Pc.holds (if state.globalLock then 1 else 0) state.pc
  knows : ∀ thread, (state.pc thread).Knows state.locatorHeaderAddress state.initialized
  unused : state.locatorHeaderAddress = 0 → state.initialized = []
  once : state.initialized.length ≤ 1
  returned : ∀ entry ∈ state.returned, state.locatorHeaderAddress ≠ 0 ∧ entry.2 = state.locatorHeaderAddress

variable {target : Target} {os : Os σ} {fuel : Nat} {state next : State τ σ} {thread : τ} {pc : Pc}

theorem State.Initial.inv (start : state.Initial) : Inv state where
  guards := SpinLock.Guards.idle fun thread => by
    rw [start.idle]
    rfl
  knows thread := by
    rw [start.idle]
    trivial
  unused _ := start.initialized
  once := by
    rw [start.initialized]
    exact Nat.zero_le _
  returned := by
    rw [start.returned]
    simp

/-- Without the lock, a thread relies at most on an address being cached. -/
theorem Pc.Knows.outside {address more : Nat} {initialized others : List Nat} (free : pc.holds = false)
    (known : address ≠ 0 → more ≠ 0) (knows : pc.Knows address initialized) : pc.Knows more others := by
  cases pc with
  | returnCached => exact known knows
  | idle | isCached | lock => trivial
  | allocate | storeAddress | initializing | loadAddress | unlock => cases free

theorem Inv.system {system : σ} (inv : Inv state) : Inv { state with system } :=
  ⟨inv.guards, inv.knows, inv.unused, inv.once, inv.returned⟩

theorem Inv.record (inv : Inv state) (known : state.locatorHeaderAddress ≠ 0) :
    Inv { state with returned := (thread, state.locatorHeaderAddress) :: state.returned } where
  guards := inv.guards
  knows := inv.knows
  unused := inv.unused
  once := inv.once
  returned entry member := by
    rcases List.mem_cons.mp member with rfl | before
    · exact ⟨known, rfl⟩
    · exact inv.returned entry before

variable [DecidableEq τ]

/-- One thread has moved; the others know what they know where they are. -/
theorem knows_goto {address : Nat} {initialized : List Nat} (knows : pc.Knows address initialized)
    (others : ∀ other, other ≠ thread → (state.pc other).Knows address initialized) (other : τ) :
    ((state.goto thread pc).pc other).Knows address initialized :=
  (Function.forall_update_iff state.pc fun _ place => place.Knows address initialized).mpr ⟨knows, others⟩ other

theorem Inv.goto (inv : Inv state) (same : pc.holds = (state.pc thread).holds)
    (knows : pc.Knows state.locatorHeaderAddress state.initialized) : Inv (state.goto thread pc) where
  guards := inv.guards.goto same
  knows := knows_goto knows fun other _ => inv.knows other
  unused := inv.unused
  once := inv.once
  returned := inv.returned

theorem Inv.acquire (inv : Inv state) (free : state.globalLock = false) (null : state.locatorHeaderAddress = 0) :
    Inv { state.goto thread .allocate with globalLock := true } where
  guards := by
    have guards := inv.guards
    rw [free] at guards
    exact guards.acquire (show (1 : Int32) ≠ 0 by decide)
  knows := knows_goto ⟨null, inv.unused null⟩ fun other _ => inv.knows other
  unused := inv.unused
  once := inv.once
  returned := inv.returned

theorem Inv.release (inv : Inv state) (held : (state.pc thread).holds = true) :
    Inv { state.goto thread .idle with globalLock := false } where
  guards := inv.guards.release held rfl
  knows := knows_goto trivial fun other _ => inv.knows other
  unused := inv.unused
  once := inv.once
  returned := inv.returned

theorem Inv.storeAddress {allocation : LocatorItem} (inv : Inv state) (here : state.pc thread = .storeAddress allocation) :
    Inv { state.goto thread (.initializing allocation.size.toNat) with locatorHeaderAddress := allocation.baseAddress } := by
  have knows := inv.knows thread
  have held : (state.pc thread).holds = true := by rw [here]; rfl
  rw [here] at knows
  constructor
  · exact inv.guards.goto held.symm
  · refine knows_goto knows.2 fun other apart => ?_
    exact (inv.knows other).outside (inv.guards.other held apart) fun known => absurd knows.1 known
  · exact fun _ => knows.2
  · exact inv.once
  · exact fun entry member => absurd knows.1 (inv.returned entry member).1

theorem Inv.initializing {length : Nat} {memory : Memory} (inv : Inv state) (here : state.pc thread = .initializing length)
    (known : state.locatorHeaderAddress ≠ 0) : Inv { state.goto thread .loadAddress with
      memory, initialized := state.locatorHeaderAddress :: state.initialized } := by
  have knows := inv.knows thread
  have held : (state.pc thread).holds = true := by rw [here]; rfl
  rw [here] at knows
  change state.initialized = [] at knows
  rw [knows]
  constructor
  · exact inv.guards.goto held.symm
  · refine knows_goto ⟨known, rfl⟩ fun other apart => ?_
    exact (inv.knows other).outside (inv.guards.other held apart) id
  · exact fun null => absurd null known
  · exact Nat.le_refl 1
  · exact inv.returned

theorem Inv.run (inv : Inv state) (unfilled : Unfilled state (thread, .run))
    (taken : state.run target os fuel thread = some next) : Inv next := by
  have knows := inv.knows thread
  cases here : state.pc thread with
  | idle =>
      simp only [State.run, here] at taken
      cases taken
  | isCached =>
      simp only [State.run, here] at taken
      cases taken
      split
      · exact inv.goto (by rw [here]; rfl) trivial
      · rename_i known
        exact inv.goto (by rw [here]; rfl) known
  | returnCached =>
      rw [here] at knows
      simp only [State.run, here] at taken
      cases taken
      exact (inv.record knows).goto (by rw [here]; rfl) trivial
  | lock =>
      simp only [State.run, here] at taken
      split at taken
      · cases taken
        exact inv
      · rename_i free
        cases taken
        have free : state.globalLock = false := by simpa using free
        exact inv.acquire free (unfilled rfl here free)
  | allocate =>
      rw [here] at knows
      simp only [State.run, here] at taken
      split at taken
      · cases taken
      · cases taken
        exact (inv.release (by rw [here]; rfl)).system
      · rename_i allocation system _
        cases taken
        have moved : Inv (state.goto thread (.storeAddress allocation)) := inv.goto (by rw [here]; rfl) knows
        exact moved.system
  | storeAddress allocation =>
      simp only [State.run, here] at taken
      cases taken
      exact inv.storeAddress here
  | initializing length =>
      simp only [State.run, here] at taken
      split at taken
      · cases taken
      · rename_i known
        cases taken
        exact inv.initializing here known
  | loadAddress =>
      rw [here] at knows
      simp only [State.run, here] at taken
      cases taken
      exact inv.goto (by rw [here]; rfl) ⟨knows.1, knows.2, rfl⟩
  | unlock address =>
      rw [here] at knows
      obtain ⟨known, _, rfl⟩ := knows
      simp only [State.run, here] at taken
      cases taken
      exact (inv.record known).release (by rw [here]; rfl)

theorem Inv.step {label : τ × Action} (inv : Inv state) (unfilled : Unfilled state label)
    (taken : state.step target os fuel label = some next) : Inv next := by
  obtain ⟨thread, action⟩ := label
  cases action with
  | run => exact inv.run unfilled taken
  | find =>
      simp only [State.step] at taken
      split at taken
      · rename_i here
        cases taken
        exact inv.goto (by rw [here]; rfl) trivial
      · cases taken

/-- The address is only ever stored over null. -/
theorem Inv.address {label : τ × Action} (inv : Inv state) (taken : state.step target os fuel label = some next)
    (known : state.locatorHeaderAddress ≠ 0) : next.locatorHeaderAddress = state.locatorHeaderAddress := by
  obtain ⟨thread, action⟩ := label
  cases action with
  | find =>
      simp only [State.step] at taken
      split at taken
      · cases taken
        rfl
      · cases taken
  | run =>
      have knows := inv.knows thread
      change state.run target os fuel thread = some next at taken
      unfold State.run at taken
      split at taken
      case h_6 allocation here =>
        rw [here] at knows
        exact absurd knows.1 known
      all_goals repeat' split at taken
      all_goals cases taken
      all_goals rfl

/-- One first locator, at an address that stays and that all calls return, in any run in
which the lock is only acquired while no address is cached. -/
theorem run_single {start middle last : State τ σ} {before after : List (τ × Action)} (initial : start.Initial)
    (first : Transition.Run (State.step target os fuel) Unfilled start before middle)
    (later : Transition.Run (State.step target os fuel) Unfilled middle after last) :
    last.initialized.length ≤ 1 ∧
    (middle.locatorHeaderAddress ≠ 0 → last.locatorHeaderAddress = middle.locatorHeaderAddress) ∧
    ∀ entry ∈ last.returned, ∀ other ∈ last.returned, entry.2 = other.2 := by
  have preserved : ∀ (state : State τ σ) label next, Inv state → Unfilled state label →
      State.step target os fuel state label = some next → Inv next :=
    fun _ _ _ inv unfilled taken => inv.step unfilled taken
  have reached : Inv middle := first.invariant Inv preserved initial.inv
  have final : Inv last := later.invariant Inv preserved reached
  refine ⟨final.once, ?_, fun entry member other also => ?_⟩
  · refine later.monotone Inv
      (fun earlier now => earlier.locatorHeaderAddress ≠ 0 → now.locatorHeaderAddress = earlier.locatorHeaderAddress)
      (fun _ _ => rfl) (fun one two three left right known => ?_) preserved
      (fun state label next inv _ taken => inv.address taken) reached
    have same := left known
    exact (right (same ▸ known)).trans same
  · exact (final.returned entry member).2.trans (final.returned other also).2.symm

/-- A process in which two threads are about to look for the locator. -/
def twoThreads : State Bool Nat where
  locatorHeaderAddress := 0
  globalLock := false
  pc _ := .idle
  memory _ := LocatorHeaderFinder.blank
  system := 0x10000
  initialized := []
  returned := []

theorem twoThreads_initial : twoThreads.Initial := ⟨rfl, fun _ => rfl, rfl, rfl⟩

def twoThreadsOs : Os Nat := Os.upwards smallTarget.usize LocatorHeaderFinder.blank

/-- One thread creates the locator and the other finds it in the cache. -/
theorem run_single_twice : ∃ last : State Bool Nat, last.returned = [(true, 0x10000), (false, 0x10000)] ∧
    last.initialized.length ≤ 1 := by
  have schedule : ∃ last,
      Transition.execute (Transition.restrict (State.step smallTarget twoThreadsOs 1) Unfilled) twoThreads
        ([(false, Action.find)] ++ List.replicate 7 (false, Action.run) ++ [(true, Action.find)] ++
          List.replicate 2 (true, Action.run)) = some last ∧
      last.returned = [(true, 0x10000), (false, 0x10000)] := ⟨_, rfl, rfl⟩
  obtain ⟨last, result, returned⟩ := schedule
  exact ⟨last, returned, (run_single twoThreads_initial .nil (Transition.execute_restrict result)).1⟩

/-- Both threads test the cache before either has the lock, and each creates a locator. -/
theorem run_twice : ∃ last : State Bool Nat, ∃ labels,
    Transition.Run (State.step smallTarget twoThreadsOs 1) Transition.always twoThreads labels last ∧
    last.initialized.length = 2 ∧ last.returned = [(true, 0x11000), (false, 0x10000)] := by
  have schedule : ∃ last, Transition.execute (State.step smallTarget twoThreadsOs 1) twoThreads
      ([(false, Action.find), (true, Action.find), (false, Action.run), (true, Action.run)] ++
        List.replicate 6 (false, Action.run) ++ List.replicate 6 (true, Action.run)) = some last ∧
      last.initialized.length = 2 ∧ last.returned = [(true, 0x11000), (false, 0x10000)] := ⟨_, rfl, rfl, rfl⟩
  obtain ⟨last, result, twice, returned⟩ := schedule
  exact ⟨last, _, Transition.execute_run (fun _ _ _ => trivial) result, twice, returned⟩

end PrivateFinder

end ReloadedBuffers
