import Mathlib.Data.Fintype.Defs
import ReloadedBuffers.Foundation.SpinLock
import ReloadedBuffers.Foundation.Transition
import ReloadedBuffers.Structs.InitializeStores

/-! Threads in `get_next_locator` of one locator, with every access to shared memory a
step of its own: the pointer and the lock of that locator, and the stores by which
the new locator is initialised.
-/

set_option autoImplicit false

namespace ReloadedBuffers

namespace SharedChain

/-- Where a thread is. -/
inductive Pc where
  | idle
  /-- About to test for the next locator without the lock. -/
  | hasNextLocator
  | lock
  | hasNextLocatorLocked
  | alloc
  | storeNextLocatorPtr (address : Nat)
  /-- About to load the pointer to the header that it will initialise. -/
  | loadNextLocatorPtr
  | initializing (store : Store) (rest : List Store)
  | unlock
  | unlockFailed
  /-- About to load the pointer that it returns. -/
  | returning
  deriving DecidableEq, Repr

/-- The locator, the memory behind its pointer, and its threads; `returned` records
the pointers that successful calls have returned. -/
structure State (τ : Type) where
  isLocked : Int32
  nextLocatorPtr : Nat
  memory : Memory
  pc : τ → Pc
  returned : List (τ × Nat)

inductive Action where
  | getNextLocator
  /-- The next access of the call that the thread is in. -/
  | run
  /-- The allocator's answer, which is null when it has no memory. -/
  | reply (address : Nat)
  deriving DecidableEq, Repr

/-- The stores that are left to do, or the end of `initialize`. -/
def Pc.stores : List Store → Pc
  | store :: rest => .initializing store rest
  | [] => .unlock

namespace State

variable {τ : Type} [DecidableEq τ]

def goto (state : State τ) (thread : τ) (pc : Pc) : State τ :=
  { state with pc := Function.update state.pc thread pc }

def run (target : Target) (state : State τ) (thread : τ) : Option (State τ) :=
  match state.pc thread with
  | .idle => none
  | .hasNextLocator => some (state.goto thread (if state.nextLocatorPtr = 0 then .lock else .returning))
  | .lock =>
    -- A failed compare-exchange leaves the thread spinning here.
    if state.isLocked = 0 then some { state.goto thread .hasNextLocatorLocked with isLocked := 1 } else some state
  | .hasNextLocatorLocked => some (state.goto thread (if state.nextLocatorPtr = 0 then .alloc else .unlock))
  | .alloc => none
  | .storeNextLocatorPtr address => some { state.goto thread .loadNextLocatorPtr with nextLocatorPtr := address }
  | .loadNextLocatorPtr =>
    some (state.goto thread (.stores (Store.initializeHeader target state.nextLocatorPtr target.granularity)))
  | .initializing store rest => some { state.goto thread (.stores rest) with memory := store.apply state.memory }
  | .unlock => some { state.goto thread .returning with isLocked := 0 }
  | .unlockFailed => some { state.goto thread .idle with isLocked := 0 }
  | .returning => some { state.goto thread .idle with returned := (thread, state.nextLocatorPtr) :: state.returned }

def step (target : Target) (state : State τ) : τ × Action → Option (State τ)
  | (thread, .run) => state.run target thread
  | (thread, .getNextLocator) =>
    if state.pc thread = .idle then some (state.goto thread .hasNextLocator) else none
  | (thread, .reply address) =>
    if state.pc thread = .alloc then
      some (state.goto thread (if address = 0 then .unlockFailed else .storeNextLocatorPtr address))
    else none

/-- A locator before any call, with or without an initialised successor. -/
structure Initial (target : Target) (state : State τ) : Prop where
  isLocked : state.isLocked = 0
  idle : ∀ thread, state.pc thread = .idle
  returned : state.returned = []
  next : state.nextLocatorPtr ≠ 0 →
    (state.memory state.nextLocatorPtr).Initialised target state.nextLocatorPtr target.granularity

end State

/-- All calls return one pointer, and to an initialised header. -/
structure HandedOut {τ : Type} (target : Target) (state : State τ) : Prop where
  same : ∀ entry ∈ state.returned, ∀ other ∈ state.returned, entry.2 = other.2
  initialised : ∀ entry ∈ state.returned,
    (state.memory entry.2).Initialised target entry.2 target.granularity

def Pc.holdsLock : Pc → Bool
  | .hasNextLocatorLocked | .alloc | .storeNextLocatorPtr _ | .loadNextLocatorPtr | .initializing _ _ | .unlock
  | .unlockFailed => true
  | .idle | .hasNextLocator | .lock | .returning => false

/-- The pointer has been stored, and the header behind it is not finished. -/
def Pc.unfinished : Pc → Bool
  | .loadNextLocatorPtr | .initializing _ _ => true
  | _ => false

variable {τ : Type}

/-- No call returns the pointer while another thread initialises the header behind it. -/
def Finished (state : State τ) (label : τ × Action) : Prop :=
  label.2 = .run → state.pc label.1 = .returning → ∀ thread, (state.pc thread).unfinished = false

instance [Fintype τ] (state : State τ) (label : τ × Action) : Decidable (Finished state label) :=
  inferInstanceAs (Decidable (label.2 = .run → state.pc label.1 = .returning →
    ∀ thread, (state.pc thread).unfinished = false))

/-- What a thread may rely on where it is. -/
def Pc.Knows (target : Target) (next : Nat) (memory : Memory) (returned : List (τ × Nat)) : Pc → Prop
  | .alloc => next = 0
  | .storeNextLocatorPtr address => next = 0 ∧ address ≠ 0
  | .loadNextLocatorPtr => next ≠ 0 ∧ returned = []
  | .initializing store rest => next ≠ 0 ∧ returned = [] ∧ ∃ before first,
    Store.initializeHeader target next target.granularity = first ++ store :: rest ∧
    memory = Store.applyAll before first
  | .unlock | .returning => next ≠ 0
  | .idle | .hasNextLocator | .lock | .hasNextLocatorLocked | .unlockFailed => True

variable {target : Target} {next more : Nat} {memory after : Memory} {returned given : List (τ × Nat)}

/-- Without the lock, a thread knows nothing but that there is a next locator. -/
theorem Pc.Knows.free {pc : Pc} (knows : pc.Knows target next memory returned) (free : pc.holdsLock = false)
    (kept : next ≠ 0 → more ≠ 0) : pc.Knows target more after given := by
  cases pc with
  | returning => exact kept knows
  | idle | hasNextLocator | lock => trivial
  | hasNextLocatorLocked | alloc | storeNextLocatorPtr | loadNextLocatorPtr | initializing | unlock | unlockFailed =>
      cases free

theorem Pc.unlock_of_stores {rest : List Store} (finished : (Pc.stores rest).unfinished = false) : rest = [] := by
  cases rest with
  | nil => rfl
  | cons => cases finished

structure Inv (target : Target) (state : State τ) : Prop where
  guards : SpinLock.Guards Pc.holdsLock state.isLocked state.pc
  knows : ∀ thread, (state.pc thread).Knows target state.nextLocatorPtr state.memory state.returned
  finished : (∀ thread, (state.pc thread).unfinished = false) → state.nextLocatorPtr ≠ 0 →
    (state.memory state.nextLocatorPtr).Initialised target state.nextLocatorPtr target.granularity
  same : ∀ entry ∈ state.returned, entry.2 = state.nextLocatorPtr ∧ state.nextLocatorPtr ≠ 0

variable {state : State τ}

theorem State.Initial.inv [DecidableEq τ] (start : state.Initial target) : Inv target state where
  guards := by
    apply SpinLock.Guards.idle
    intro thread
    rw [start.idle]
    rfl
  knows thread := by
    rw [start.idle]
    trivial
  finished _ := start.next
  same := by
    rw [start.returned]
    simp

/-- Once a pointer has been returned, its header stays as it is. -/
theorem Inv.handedOut (inv : Inv target state) : HandedOut target state where
  same entry member other also := (inv.same entry member).1.trans (inv.same other also).1.symm
  initialised entry member := by
    obtain ⟨pointer, linked⟩ := inv.same entry member
    rw [pointer]
    apply inv.finished _ linked
    intro thread
    by_contra unfinished
    have knows := inv.knows thread
    have none : state.returned = [] := by
      revert knows unfinished
      cases state.pc thread with
      | loadNextLocatorPtr => exact fun _ knows => knows.2
      | initializing => exact fun _ knows => knows.2.1
      | _ => simp [Pc.unfinished]
    rw [none] at member
    cases member

variable [DecidableEq τ] {thread : τ} {pc : Pc}

/-- One thread has moved; the others know what they know where they are. -/
theorem knows_goto (knows : pc.Knows target more after given)
    (others : ∀ other, other ≠ thread → (state.pc other).Knows target more after given) (other : τ) :
    ((state.goto thread pc).pc other).Knows target more after given :=
  (Function.forall_update_iff state.pc fun _ place => place.Knows target more after given).mpr ⟨knows, others⟩ other

/-- A move that leaves nothing to be finished behind. -/
theorem finished_of_goto (leaves : pc.unfinished = false → (state.pc thread).unfinished = false)
    (nobody : ∀ other, ((state.goto thread pc).pc other).unfinished = false) (other : τ) :
    (state.pc other).unfinished = false := by
  obtain ⟨here, others⟩ := (Function.forall_update_iff state.pc fun _ place => place.unfinished = false).mp nobody
  rcases eq_or_ne other thread with rfl | apart
  · exact leaves here
  · exact others other apart

/-- Only the holder of the lock changes what the others see. -/
theorem Inv.knows_update (inv : Inv target state) (holds : (state.pc thread).holdsLock = true)
    (kept : state.nextLocatorPtr ≠ 0 → more ≠ 0) (knows : pc.Knows target more after given) (other : τ) :
    ((state.goto thread pc).pc other).Knows target more after given := by
  refine knows_goto knows (fun other apart => ?_) other
  -- Without the lock a thread relies on nothing but that the pointer is not null.
  exact (inv.knows other).free (inv.guards.other holds apart) kept

theorem Inv.goto (inv : Inv target state) (holds : pc.holdsLock = (state.pc thread).holdsLock)
    (unfinished : pc.unfinished = (state.pc thread).unfinished)
    (knows : pc.Knows target state.nextLocatorPtr state.memory state.returned) :
    Inv target (state.goto thread pc) where
  guards := inv.guards.goto holds
  knows := knows_goto knows fun other _ => inv.knows other
  finished nobody := inv.finished (finished_of_goto (fun done => unfinished ▸ done) nobody)
  same := inv.same

theorem Inv.lock (inv : Inv target state) (here : state.pc thread = .lock) {next : State τ}
    (taken : state.run target thread = some next) : Inv target next := by
  simp only [State.run, here] at taken
  split at taken
  · rename_i free
    cases taken
    have guards := inv.guards
    rw [free] at guards
    constructor
    · exact guards.acquire (show (1 : Int32) ≠ 0 by decide)
    · exact knows_goto trivial fun other _ => inv.knows other
    · intro nobody
      exact inv.finished (finished_of_goto (fun _ => by rw [here]; rfl) nobody)
    · exact inv.same
  · cases taken
    exact inv

theorem Inv.release (inv : Inv target state) (holds : (state.pc thread).holdsLock = true)
    (finished : (state.pc thread).unfinished = false) (free : pc.holdsLock = false)
    (knows : pc.Knows target state.nextLocatorPtr state.memory state.returned) :
    Inv target { state.goto thread pc with isLocked := 0 } where
  guards := inv.guards.release holds free
  knows := inv.knows_update holds id knows
  finished nobody := inv.finished (finished_of_goto (fun _ => finished) nobody)
  same := inv.same

/-- The pointer is stored before the header behind it is initialised. -/
theorem Inv.storeNextLocatorPtr {address : Nat} (inv : Inv target state)
    (here : state.pc thread = .storeNextLocatorPtr address) :
    Inv target { state.goto thread .loadNextLocatorPtr with nextLocatorPtr := address } := by
  have knows := inv.knows thread
  rw [here] at knows
  -- Nothing has been returned while the pointer is null.
  have none : state.returned = [] := by
    by_contra some_entry
    obtain ⟨entry, member⟩ := List.exists_mem_of_ne_nil _ some_entry
    exact (inv.same entry member).2 knows.1
  constructor
  · exact inv.guards.goto (by rw [here]; rfl)
  · exact inv.knows_update (by rw [here]; rfl) (fun _ => knows.2) ⟨knows.2, none⟩
  · intro nobody
    have unfinished := nobody thread
    simp only [State.goto, Function.update_self] at unfinished
    cases unfinished
  · intro entry member
    simp only [State.goto, none] at member
    cases member

theorem Inv.initializing {store : Store} {rest : List Store} (inv : Inv target state)
    (here : state.pc thread = .initializing store rest) :
    Inv target { state.goto thread (.stores rest) with memory := store.apply state.memory } := by
  have knows := inv.knows thread
  rw [here] at knows
  obtain ⟨linked, none, before, first, stores, memory⟩ := knows
  have holds : (state.pc thread).holdsLock = true := by rw [here]; rfl
  have written : store.apply state.memory = Store.applyAll before (first ++ [store]) := by
    rw [Store.applyAll_append, memory]
    rfl
  have still : (Pc.stores rest).holdsLock = true := by cases rest <;> rfl
  constructor
  · exact inv.guards.goto (by rw [still, holds])
  · apply inv.knows_update holds id
    cases rest with
    | nil => exact linked
    | cons another rest =>
        refine ⟨linked, none, before, first ++ [store], ?_, written⟩
        rw [stores, List.append_assoc]
        rfl
  · intro nobody _
    -- Nobody initialises any more, so this was the last store.
    have last := nobody thread
    simp only [State.goto, Function.update_self] at last
    cases Pc.unlock_of_stores last
    change (store.apply state.memory state.nextLocatorPtr).Initialised target state.nextLocatorPtr target.granularity
    rw [written, ← stores]
    exact Store.initialised target before state.nextLocatorPtr target.granularity
  · exact inv.same

theorem Inv.returning (inv : Inv target state) (here : state.pc thread = .returning)
    (finished : ∀ other, (state.pc other).unfinished = false) :
    Inv target { state.goto thread .idle with returned := (thread, state.nextLocatorPtr) :: state.returned } := by
  have linked := inv.knows thread
  rw [here] at linked
  constructor
  · exact inv.guards.goto (by rw [here]; rfl)
  · refine knows_goto trivial fun other _ => ?_
    have knows := inv.knows other
    have idle := finished other
    revert knows idle
    cases state.pc other with
    | loadNextLocatorPtr | initializing => exact fun _ idle => nomatch idle
    | _ => exact fun knows _ => knows
  · exact fun _ => inv.finished finished
  · intro entry member
    rcases List.mem_cons.mp member with rfl | before
    · exact ⟨rfl, linked⟩
    · exact inv.same entry before

theorem Inv.run (inv : Inv target state) (finished : Finished state (thread, .run)) {next : State τ}
    (taken : state.run target thread = some next) : Inv target next := by
  cases here : state.pc thread with
  | lock => exact inv.lock here taken
  | idle | alloc => simp [State.run, here] at taken
  | hasNextLocator =>
      simp only [State.run, here] at taken
      cases taken
      by_cases ended : state.nextLocatorPtr = 0
      · rw [if_pos ended]
        exact inv.goto (by rw [here]; rfl) (by rw [here]; rfl) trivial
      · rw [if_neg ended]
        exact inv.goto (by rw [here]; rfl) (by rw [here]; rfl) ended
  | hasNextLocatorLocked =>
      simp only [State.run, here] at taken
      cases taken
      by_cases ended : state.nextLocatorPtr = 0
      · rw [if_pos ended]
        exact inv.goto (by rw [here]; rfl) (by rw [here]; rfl) ended
      · rw [if_neg ended]
        exact inv.goto (by rw [here]; rfl) (by rw [here]; rfl) ended
  | storeNextLocatorPtr address =>
      simp only [State.run, here] at taken
      cases taken
      exact inv.storeNextLocatorPtr here
  | loadNextLocatorPtr =>
      have knows := inv.knows thread
      rw [here] at knows
      simp only [State.run, here] at taken
      cases taken
      exact inv.goto (by rw [here]; rfl) (by rw [here]; rfl) ⟨knows.1, knows.2, state.memory, [], rfl, rfl⟩
  | initializing store rest =>
      simp only [State.run, here] at taken
      cases taken
      exact inv.initializing here
  | unlock =>
      have knows := inv.knows thread
      rw [here] at knows
      simp only [State.run, here] at taken
      cases taken
      exact inv.release (by rw [here]; rfl) (by rw [here]; rfl) rfl knows
  | unlockFailed =>
      simp only [State.run, here] at taken
      cases taken
      exact inv.release (by rw [here]; rfl) (by rw [here]; rfl) rfl trivial
  | returning =>
      simp only [State.run, here] at taken
      cases taken
      exact inv.returning here (finished rfl here)

theorem Inv.step {label : τ × Action} (inv : Inv target state) (finished : Finished state label) {next : State τ}
    (taken : state.step target label = some next) : Inv target next := by
  obtain ⟨thread, action⟩ := label
  cases action with
  | run => exact inv.run finished taken
  | getNextLocator =>
      simp only [State.step] at taken
      split at taken
      · rename_i here
        cases taken
        exact inv.goto (by rw [here]; rfl) (by rw [here]; rfl) trivial
      · cases taken
  | reply address =>
      have knows := inv.knows thread
      simp only [State.step] at taken
      split at taken
      · rename_i here
        rw [here] at knows
        cases taken
        by_cases null : address = 0
        · rw [if_pos null]
          exact inv.goto (by rw [here]; rfl) (by rw [here]; rfl) trivial
        · rw [if_neg null]
          exact inv.goto (by rw [here]; rfl) (by rw [here]; rfl) ⟨knows, null⟩
      · cases taken

/-- No locator is handed out before it is initialised, in any run in which no call
returns while another thread is initialising. -/
theorem run_handedOut {start last : State τ} {labels : List (τ × Action)} (initial : start.Initial target)
    (run : Transition.Run (State.step target) Finished start labels last) : HandedOut target last := by
  have preserved : ∀ (state : State τ) label next, Inv target state → Finished state label →
      State.step target state label = some next → Inv target next :=
    fun _ _ _ inv finished taken => inv.step finished taken
  exact (run.invariant (Inv target) preserved initial.inv).handedOut

/-- Two threads, and memory in which nothing has been written. A locator fills the 4 KiB
that it is allocated. -/
def twoThreads : State Bool where
  isLocked := 0
  nextLocatorPtr := 0
  memory _ := ⟨0, 0, 0, 0, 0, fun _ => ⟨0, 0, 0, 0⟩⟩
  pc _ := .idle
  returned := []

theorem twoThreads_initial : twoThreads.Initial smallTarget where
  isLocked := rfl
  idle _ := rfl
  returned := rfl
  next linked := absurd rfl linked

/-- One thread creates the next locator, and the other finds it. -/
theorem run_handedOut_twice : ∃ last : State Bool, last.returned = [(true, 0x20000), (false, 0x20000)] ∧
    HandedOut smallTarget last := by
  have schedule : ∃ last, Transition.execute (Transition.restrict (State.step smallTarget) Finished) twoThreads
      ([(false, Action.getNextLocator), (true, Action.getNextLocator)] ++ List.replicate 3 (false, Action.run) ++
        [(false, Action.reply 0x20000)] ++ List.replicate 10 (false, Action.run) ++
        List.replicate 2 (true, Action.run)) = some last ∧
      last.returned = [(true, 0x20000), (false, 0x20000)] := ⟨_, rfl, rfl⟩
  obtain ⟨last, result, returned⟩ := schedule
  exact ⟨last, returned, run_handedOut twoThreads_initial (Transition.execute_restrict result)⟩

/-- The second thread takes the pointer that the first has stored, and returns it before
the first store of `initialize`. -/
theorem run_handedOut_early : ∃ last : State Bool, ∃ labels,
    Transition.Run (State.step smallTarget) Transition.always twoThreads labels last ∧
    last.returned = [(true, 0x20000)] ∧ ¬ HandedOut smallTarget last := by
  have schedule : ∃ last, Transition.execute (State.step smallTarget) twoThreads
      ([(false, .getNextLocator), (true, .getNextLocator), (false, .run), (false, .run), (false, .run),
        (false, .reply 0x20000), (false, .run), (true, .run), (true, .run)]) = some last ∧
      last.returned = [(true, 0x20000)] ∧ (last.memory 0x20000).thisAddress = 0 := ⟨_, rfl, rfl, rfl⟩
  obtain ⟨last, result, returned, address⟩ := schedule
  refine ⟨last, _, Transition.execute_run (fun _ _ _ => trivial) result, returned, ?_⟩
  intro handed
  have initialised := handed.initialised (true, 0x20000) (by rw [returned]; exact List.mem_singleton_self _)
  rw [initialised.thisAddress] at address
  cases address

end SharedChain

end ReloadedBuffers
