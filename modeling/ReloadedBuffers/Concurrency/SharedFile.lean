import Mathlib.Data.Fintype.Defs
import ReloadedBuffers.Foundation.Transition
import ReloadedBuffers.Structs.InitializeStores

/-! Instances of the library in one process, whose threads look for the first locator in
one memory mapped file. Each instance has a cache and a lock of its own; what they
share is the file.
-/

set_option autoImplicit false

namespace ReloadedBuffers

namespace SharedFile

/-- The shared file: its length, and its bytes as headers by their distance from the start. -/
structure File where
  length : Nat
  content : Memory

/-- A file that has been created and not written. -/
def File.empty : File := ⟨0, fun _ => ⟨0, 0, 0, 0, 0, fun _ => ⟨0, 0, 0, 0⟩⟩⟩

/-- The memory that a mapping of the file shows. -/
def File.mapped (file : File) (data : Nat) : Memory := fun place => file.content (place - data)

/-- A store through a mapping that starts at `data`. -/
def File.store (file : File) (data : Nat) (store : Store) : File :=
  { file with content := fun offset => store.apply (file.mapped data) (data + offset) }

/-- Where a thread is. -/
inductive Pc where
  | idle
  /-- About to test the cache without the lock. -/
  | isCached
  /-- About to load the cached address that it returns. -/
  | returnCached
  | lock
  /-- About to open the file, which must exist. -/
  | openExisting
  /-- About to open the file, creating it if it does not exist. -/
  | create
  | truncate
  | map (alreadyExisted : Bool)
  | readThisAddress
  | storeThisAddress (address : Nat)
  | storeData (data : Nat)
  | initializing (data : Nat) (store : Store) (rest : List Store)
  /-- About to load the address from the cache, which it returns after unlocking. -/
  | loadCached
  | unlock (address : Nat)
  deriving DecidableEq, Repr

/-- The process. `initialized` records the addresses at which a header has been
initialised, and `returned` what calls have returned. -/
structure State (τ ι : Type) where
  file : Option File
  cache : ι → Nat
  globalLock : ι → Bool
  pc : τ → Pc
  initialized : List Nat
  returned : List (τ × Nat)

inductive Action where
  | find
  /-- The next step of the call that the thread is in. -/
  | run
  /-- The address at which the file is mapped. -/
  | mapped (data : Nat)
  deriving DecidableEq, Repr

/-- The stores that are left to do, or the end of `initialize`. -/
def Pc.stores (data : Nat) : List Store → Pc
  | store :: rest => .initializing data store rest
  | [] => .loadCached

namespace State

variable {τ ι : Type} [DecidableEq τ] [DecidableEq ι]

def goto (state : State τ ι) (thread : τ) (pc : Pc) : State τ ι :=
  { state with pc := Function.update state.pc thread pc }

/-- Each thread calls into one instance of the library. `cleanup` is no step: it removes
no file of a running process. -/
def run (target : Target) (instance_ : τ → ι) (state : State τ ι) (thread : τ) : Option (State τ ι) :=
  let here := instance_ thread
  match state.pc thread with
  | .idle | .map _ => none
  | .isCached => some (state.goto thread (if state.cache here = 0 then .lock else .returnCached))
  | .returnCached => some { state.goto thread .idle with returned := (thread, state.cache here) :: state.returned }
  | .lock =>
    if state.globalLock here then some state
    else some { state.goto thread .openExisting with globalLock := Function.update state.globalLock here true }
  | .openExisting => some (state.goto thread (if state.file.isSome then .map true else .create))
  | .create =>
    -- There is no `O_EXCL`: a file that has come into existence is opened as if it were new.
    some { state.goto thread .truncate with file := some (state.file.getD .empty) }
  | .truncate =>
    some { state.goto thread (.map false) with
      file := state.file.map fun file => { file with length := target.granularity } }
  | .readThisAddress =>
    match state.file with
    -- A read behind the end of the file ends the process.
    | some file => if file.length = 0 then none else some (state.goto thread (.storeThisAddress (file.content 0).thisAddress))
    | none => none
  | .storeThisAddress address =>
    some { state.goto thread .loadCached with cache := Function.update state.cache here address }
  | .storeData data =>
    some { state.goto thread (.stores data (Store.initializeHeader target data target.granularity)) with
      cache := Function.update state.cache here data, initialized := data :: state.initialized }
  | .initializing data store rest =>
    some { state.goto thread (.stores data rest) with file := state.file.map fun file => file.store data store }
  | .loadCached => some (state.goto thread (.unlock (state.cache here)))
  | .unlock address =>
    some { state.goto thread .idle with
      globalLock := Function.update state.globalLock here false, returned := (thread, address) :: state.returned }

def step (target : Target) (instance_ : τ → ι) (state : State τ ι) : τ × Action → Option (State τ ι)
  | (thread, .run) => state.run target instance_ thread
  | (thread, .find) => if state.pc thread = .idle then some (state.goto thread .isCached) else none
  | (thread, .mapped data) =>
    match state.pc thread with
    | .map alreadyExisted =>
      if data = 0 then none
      else some (state.goto thread (if alreadyExisted then .readThisAddress else .storeData data))
    | _ => none

/-- A process in which nothing has looked for the locator, and without a file. -/
structure Initial (state : State τ ι) : Prop where
  file : state.file = none
  cache : ∀ here, state.cache here = 0
  idle : ∀ thread, state.pc thread = .idle
  initialized : state.initialized = []
  returned : state.returned = []

end State

/-- All calls return one address, at which one header has been initialised. -/
structure Agreed {τ ι : Type} (target : Target) (state : State τ ι) : Prop where
  same : ∀ entry ∈ state.returned, ∀ other ∈ state.returned, entry.2 = other.2
  nonzero : ∀ entry ∈ state.returned, entry.2 ≠ 0
  once : ∀ entry ∈ state.returned, state.initialized = [entry.2]
  header : ∀ entry ∈ state.returned, ∃ file, state.file = some file ∧
    (file.content 0).Initialised target entry.2 target.granularity

/-- The thread has created the file, and the header in it is not finished. -/
def Pc.unfinished : Pc → Bool
  | .truncate | .map false | .storeData _ | .initializing _ _ _ => true
  | _ => false

def Pc.creating (pc : Pc) : Bool := pc == .create || pc.unfinished

variable {τ ι : Type}

/-- Where the calls do not get in each other's way: none looks for the file between
another's failure to open it and its creation, and none reads from the file, or
returns from the cache, while another has created the file and not finished. -/
def Undisturbed (state : State τ ι) (label : τ × Action) : Prop :=
  label.2 = .run →
    (state.pc label.1 = .openExisting → state.file = none → ∀ thread, state.pc thread ≠ .create) ∧
    (state.pc label.1 = .readThisAddress ∨ state.pc label.1 = .returnCached →
      ∀ thread, (state.pc thread).unfinished = false)

/-- What a thread may rely on where it is. -/
def Pc.Knows (target : Target) (file : Option File) (cached : Nat) (initialized : List Nat) : Pc → Prop
  | .create => file = none
  | .truncate | .map false => file.isSome = true ∧ initialized = []
  | .storeData data => file.isSome = true ∧ initialized = [] ∧ data ≠ 0
  | .initializing data store rest => cached ≠ 0 ∧ data ≠ 0 ∧ initialized = [data] ∧ ∃ found before first,
    file = some found ∧ Store.initializeHeader target data target.granularity = first ++ store :: rest ∧
    found.content 0 = Store.applyAll before first data
  | .map true | .readThisAddress => file.isSome = true
  | .storeThisAddress address | .unlock address => address ≠ 0 ∧ initialized = [address]
  | .returnCached | .loadCached => cached ≠ 0
  | .idle | .isCached | .lock | .openExisting => True

/-- The thread has found out the address, so no header is being initialised. -/
def Pc.settled : Pc → Bool
  | .storeThisAddress _ | .loadCached | .unlock _ => true
  | _ => false

structure Inv (target : Target) (instance_ : τ → ι) (state : State τ ι) : Prop where
  lone : ∀ thread other, (state.pc thread).creating = true → (state.pc other).creating = true → thread = other
  knows : ∀ thread, (state.pc thread).Knows target state.file (state.cache (instance_ thread)) state.initialized
  cached : ∀ here, state.cache here ≠ 0 → state.initialized = [state.cache here]
  absent : state.file = none → state.initialized = []
  returned : ∀ entry ∈ state.returned, entry.2 ≠ 0 ∧ state.initialized = [entry.2]
  ready : (∀ thread, (state.pc thread).unfinished = false) → ∀ file, state.file = some file →
    ∃ data, data ≠ 0 ∧ state.initialized = [data] ∧ (file.content 0).Initialised target data target.granularity
  settled : ∀ thread, (state.pc thread).settled = true → ∀ other, (state.pc other).unfinished = false
  quiet : state.returned ≠ [] → ∀ thread, (state.pc thread).unfinished = false

variable {target : Target} {instance_ : τ → ι} {state : State τ ι} {thread : τ} {pc : Pc}

theorem Pc.creating_of_unfinished (unfinished : pc.unfinished = true) : pc.creating = true := by
  simp [creating, unfinished]

theorem Pc.unfinished_of_not_creating (free : pc.creating = false) : pc.unfinished = false := by
  simp only [creating, Bool.or_eq_false_iff] at free
  exact free.2

theorem State.Initial.inv (start : state.Initial) : Inv target instance_ state where
  lone thread other creating := by
    rw [start.idle] at creating
    cases creating
  knows thread := by
    rw [start.idle]
    trivial
  cached here known := absurd (start.cache here) known
  absent _ := start.initialized
  returned := by
    rw [start.returned]
    simp
  ready _ file found := by
    rw [start.file] at found
    cases found
  settled thread settled := by
    rw [start.idle] at settled
    cases settled
  quiet some_entry := absurd start.returned some_entry

theorem Inv.agreed (inv : Inv target instance_ state) : Agreed target state where
  same entry member other also := by
    have one := (inv.returned entry member).2
    have two := (inv.returned other also).2
    exact List.singleton_inj.mp (one.symm.trans two)
  nonzero entry member := (inv.returned entry member).1
  once entry member := (inv.returned entry member).2
  header entry member := by
    have once := (inv.returned entry member).2
    cases found : state.file with
    | none =>
        rw [inv.absent found] at once
        cases once
    | some file =>
        obtain ⟨data, _, known, initialised⟩ := inv.ready (inv.quiet (List.ne_nil_of_mem member)) file found
        cases once.symm.trans known
        exact ⟨file, rfl, initialised⟩

/-- Away from the creation of the file, knowledge survives as the shared state grows. -/
theorem Pc.Knows.mono {file after : Option File} {cached more : Nat} {initialized others : List Nat}
    (knows : pc.Knows target file cached initialized) (free : pc.creating = false)
    (exists_ : file.isSome = true → after.isSome = true) (known : cached ≠ 0 → more ≠ 0)
    (kept : initialized ≠ [] → others = initialized) : pc.Knows target after more others := by
  cases pc with
  | storeThisAddress | unlock => exact ⟨knows.1, (kept (by rw [knows.2]; simp)).trans knows.2⟩
  | returnCached | loadCached => exact known knows
  | readThisAddress => exact exists_ knows
  | map alreadyExisted =>
      cases alreadyExisted with
      | true => exact exists_ knows
      | false => cases free
  | idle | isCached | lock | openExisting => trivial
  | create | truncate | storeData | initializing => cases free

theorem Pc.Knows.cached {file : Option File} {cached more : Nat} {initialized : List Nat}
    (knows : pc.Knows target file cached initialized) (known : cached ≠ 0 → more ≠ 0) :
    pc.Knows target file more initialized := by
  cases pc with
  | returnCached | loadCached => exact known knows
  | initializing => exact ⟨known knows.1, knows.2⟩
  | map alreadyExisted => cases alreadyExisted <;> exact knows
  | idle | isCached | lock | openExisting | create | truncate | readThisAddress | storeThisAddress | storeData
  | unlock => exact knows

theorem Inv.exists_of_unfinished (inv : Inv target instance_ state) (unfinished : (state.pc thread).unfinished = true) :
    state.file.isSome = true := by
  have knows := inv.knows thread
  revert unfinished knows
  cases state.pc thread with
  | truncate => exact fun _ knows => knows.1
  | storeData => exact fun _ knows => knows.1
  | map alreadyExisted =>
      cases alreadyExisted with
      | true => exact fun unfinished => nomatch unfinished
      | false => exact fun _ knows => knows.1
  | initializing data store rest =>
      rintro _ ⟨_, _, _, file, _, _, found, _⟩
      simp [found]
  | idle | isCached | returnCached | lock | openExisting | create | readThisAddress | storeThisAddress | loadCached
  | unlock => exact fun unfinished => nomatch unfinished

/-- Without a file, nothing has been found out. -/
theorem Inv.unsettled_of_absent (inv : Inv target instance_ state) (absent : state.file = none) (thread : τ) :
    (state.pc thread).settled = false := by
  have empty := inv.absent absent
  have knows := inv.knows thread
  revert knows
  cases state.pc thread with
  | storeThisAddress | unlock =>
      intro knows
      cases empty.symm.trans knows.2
  | loadCached =>
      intro knows
      cases empty.symm.trans (inv.cached _ knows)
  | idle | isCached | returnCached | lock | openExisting | create | truncate | map | readThisAddress | storeData
  | initializing => exact fun _ => rfl

theorem Inv.unsettled_of_unfinished (inv : Inv target instance_ state) (unfinished : (state.pc thread).unfinished = true)
    (other : τ) : (state.pc other).settled = false := by
  by_contra settled
  have finished := inv.settled other (by simpa using settled) thread
  rw [finished] at unfinished
  cases unfinished

theorem Inv.none_of_unfinished (inv : Inv target instance_ state) (unfinished : (state.pc thread).unfinished = true) :
    state.returned = [] := by
  by_contra some_entry
  have finished := inv.quiet some_entry thread
  rw [finished] at unfinished
  cases unfinished

theorem Inv.globalLock {locks : ι → Bool} (inv : Inv target instance_ state) :
    Inv target instance_ { state with globalLock := locks } :=
  ⟨inv.lone, inv.knows, inv.cached, inv.absent, inv.returned, inv.ready, inv.settled, inv.quiet⟩

theorem Inv.record {address : Nat} (inv : Inv target instance_ state) (known : address ≠ 0)
    (once : state.initialized = [address]) (finished : ∀ other, (state.pc other).unfinished = false) :
    Inv target instance_ { state with returned := (thread, address) :: state.returned } where
  lone := inv.lone
  knows := inv.knows
  cached := inv.cached
  absent := inv.absent
  returned entry member := by
    rcases List.mem_cons.mp member with rfl | before
    · exact ⟨known, once⟩
    · exact inv.returned entry before
  ready := inv.ready
  settled := inv.settled
  quiet _ := finished

/-- While one thread creates, no other does. -/
theorem Inv.free (inv : Inv target instance_ state) (creating : (state.pc thread).creating = true) {other : τ}
    (apart : other ≠ thread) : (state.pc other).creating = false := by
  by_contra also
  exact apart (inv.lone other thread (by simpa using also) creating)

theorem File.store_content (file : File) (data : Nat) (store : Store) {memory : Memory}
    (same : file.content 0 = memory data) : (file.store data store).content 0 = store.apply memory data := by
  change store.apply (file.mapped data) (data + 0) = store.apply memory data
  rw [Nat.add_zero]
  apply Store.apply_local
  unfold File.mapped
  rw [Nat.sub_self, same]

/-- An address that has been found out is cached. -/
theorem Inv.cache [DecidableEq ι] {address : Nat} {here : ι} (inv : Inv target instance_ state) (nonzero : address ≠ 0)
    (once : state.initialized = [address]) :
    Inv target instance_ { state with cache := Function.update state.cache here address } where
  lone := inv.lone
  knows other := by
    apply (inv.knows other).cached
    intro known
    change Function.update state.cache here address (instance_ other) ≠ 0
    rw [Function.update_apply]
    split
    · exact nonzero
    · exact known
  cached found known := by
    change Function.update state.cache here address found ≠ 0 at known
    change state.initialized = [Function.update state.cache here address found]
    rw [Function.update_apply] at known ⊢
    split
    · exact once
    · rename_i elsewhere
      rw [if_neg elsewhere] at known
      exact inv.cached found known
  absent := inv.absent
  returned := inv.returned
  ready := inv.ready
  settled := inv.settled
  quiet := inv.quiet

variable [DecidableEq τ]

/-- A thread moves on, and the shared state stays as it is. -/
theorem Inv.goto (inv : Inv target instance_ state)
    (creating : pc.creating = true → ∀ other, (state.pc other).creating = true → other = thread)
    (unfinished : pc.unfinished = (state.pc thread).unfinished)
    (settled : pc.settled = true → ∀ other, (state.pc other).unfinished = false)
    (knows : pc.Knows target state.file (state.cache (instance_ thread)) state.initialized) :
    Inv target instance_ (state.goto thread pc) := by
  have still : ∀ other, ((state.goto thread pc).pc other).unfinished = (state.pc other).unfinished := by
    intro other
    rcases eq_or_ne other thread with rfl | apart
    · simp only [State.goto, Function.update_self, unfinished]
    · simp only [State.goto, Function.update_of_ne apart]
  constructor
  · intro one other left right
    rcases eq_or_ne one thread with rfl | first
    · simp only [State.goto, Function.update_self] at left
      rcases eq_or_ne other one with rfl | second
      · rfl
      · simp only [State.goto, Function.update_of_ne second] at right
        exact (creating left other right).symm
    · simp only [State.goto, Function.update_of_ne first] at left
      rcases eq_or_ne other thread with rfl | second
      · simp only [State.goto, Function.update_self] at right
        exact creating right one left
      · simp only [State.goto, Function.update_of_ne second] at right
        exact inv.lone one other left right
  · intro other
    rcases eq_or_ne other thread with rfl | apart
    · simpa only [State.goto, Function.update_self]
    · simpa only [State.goto, Function.update_of_ne apart] using inv.knows other
  · exact inv.cached
  · exact inv.absent
  · exact inv.returned
  · intro nobody
    exact inv.ready fun other => (still other).symm.trans (nobody other)
  · intro one here other
    rw [still]
    rcases eq_or_ne one thread with rfl | apart
    · simp only [State.goto, Function.update_self] at here
      exact settled here other
    · simp only [State.goto, Function.update_of_ne apart] at here
      exact inv.settled one here other
  · intro some_entry other
    rw [still]
    exact inv.quiet some_entry other

/-- A thread that is not creating the file goes on, and has not found out the address. -/
theorem Inv.wander (inv : Inv target instance_ state) (finished : (state.pc thread).unfinished = false)
    (free : pc.creating = false) (unsettled : pc.settled = false)
    (knows : pc.Knows target state.file (state.cache (instance_ thread)) state.initialized) :
    Inv target instance_ (state.goto thread pc) := by
  apply inv.goto
  · intro creating
    rw [free] at creating
    cases creating
  · rw [finished, Pc.unfinished_of_not_creating free]
  · intro settled
    rw [unsettled] at settled
    cases settled
  · exact knows

/-- The one thread that creates goes on, and has not finished. -/
theorem Inv.creator {after : Option File} {more : ι → Nat} {others : List Nat} (inv : Inv target instance_ state)
    (creating : (state.pc thread).creating = true) (still : pc.unfinished = true)
    (unsettled : ∀ other, (state.pc other).settled = false) (empty : state.returned = [])
    (exists_ : after.isSome = true) (known : ∀ here, state.cache here ≠ 0 → more here ≠ 0)
    (kept : state.initialized ≠ [] → others = state.initialized)
    (knows : pc.Knows target after (more (instance_ thread)) others)
    (cached : ∀ here, more here ≠ 0 → others = [more here]) :
    Inv target instance_ { state.goto thread pc with file := after, cache := more, initialized := others } := by
  have unfinished : ((state.goto thread pc).pc thread).unfinished = true := by
    simp only [State.goto, Function.update_self, still]
  constructor
  · intro one other left right
    -- The creator is the only one, before the step and after it.
    have same : ∀ found, ((state.goto thread pc).pc found).creating = true → found = thread := by
      intro found here
      by_contra apart
      simp only [State.goto, Function.update_of_ne apart, inv.free creating apart] at here
      cases here
    rw [same one left, same other right]
  · intro other
    rcases eq_or_ne other thread with rfl | apart
    · simpa only [State.goto, Function.update_self]
    · simp only [State.goto, Function.update_of_ne apart]
      exact (inv.knows other).mono (inv.free creating apart) (fun _ => exists_) (known _) kept
  · exact cached
  · intro absent
    change after = none at absent
    rw [absent] at exists_
    cases exists_
  · intro entry member
    simp only [State.goto, empty] at member
    cases member
  · intro nobody
    exact absurd (nobody thread) (by rw [unfinished]; decide)
  · intro one here
    rcases eq_or_ne one thread with rfl | apart
    · simp only [State.goto, Function.update_self] at here
      revert here still
      cases pc with
      | storeThisAddress | loadCached | unlock => exact fun still => nomatch still
      | _ => exact fun _ here => nomatch here
    · simp only [State.goto, Function.update_of_ne apart, unsettled one] at here
      cases here
  · exact fun some_entry => absurd empty some_entry

theorem Inv.initializing {data : Nat} {store : Store} {rest : List Store} (inv : Inv target instance_ state)
    (here : state.pc thread = .initializing data store rest) :
    Inv target instance_ { state.goto thread (.stores data rest) with
      file := state.file.map fun file => file.store data store } := by
  have knows := inv.knows thread
  rw [here] at knows
  obtain ⟨known, nonzero, once, file, before, first, found, stores, content⟩ := knows
  have unfinished : (state.pc thread).unfinished = true := by rw [here]; rfl
  have creating := Pc.creating_of_unfinished unfinished
  have written : (file.store data store).content 0 = Store.applyAll before (first ++ [store]) data := by
    rw [Store.applyAll_append, file.store_content data store content]
    rfl
  have exists_ : (state.file.map fun file => file.store data store).isSome = true := by rw [found]; rfl
  cases rest with
  | cons another rest =>
      apply inv.creator creating rfl (inv.unsettled_of_unfinished unfinished) (inv.none_of_unfinished unfinished)
        exists_ (fun _ known => known) (fun _ => rfl) _ inv.cached
      refine ⟨known, nonzero, once, file.store data store, before, first ++ [store], by rw [found]; rfl, ?_, written⟩
      rw [stores, List.append_assoc]
      rfl
  | nil =>
      -- This was the last store: the header is finished, and nobody else was at one.
      have nobody : ∀ other, ((state.goto thread .loadCached).pc other).creating = false := by
        intro other
        rcases eq_or_ne other thread with rfl | apart
        · simp only [State.goto, Function.update_self]
          rfl
        · simpa only [State.goto, Function.update_of_ne apart] using inv.free creating apart
      have finished : ∀ other, ((state.goto thread .loadCached).pc other).unfinished = false :=
        fun other => Pc.unfinished_of_not_creating (nobody other)
      constructor
      · intro one other left
        cases (nobody one).symm.trans left
      · intro other
        rcases eq_or_ne other thread with rfl | apart
        · simp only [State.goto, Function.update_self]
          exact known
        · simp only [State.goto, Function.update_of_ne apart]
          exact (inv.knows other).mono (inv.free creating apart) (fun _ => exists_) id fun _ => rfl
      · exact inv.cached
      · intro absent
        change (state.file.map fun file => file.store data store) = none at absent
        rw [absent] at exists_
        cases exists_
      · exact inv.returned
      · intro _ last
        rw [found]
        rintro ⟨⟩
        refine ⟨data, nonzero, once, ?_⟩
        rw [written, ← stores]
        exact Store.initialised target before data target.granularity
      · exact fun _ _ => finished
      · exact fun _ => finished

theorem Inv.returnedAddress {address : Nat} {locks : ι → Bool} (inv : Inv target instance_ state)
    (known : address ≠ 0) (once : state.initialized = [address])
    (finished : ∀ other, (state.pc other).unfinished = false) :
    Inv target instance_ { state.goto thread .idle with
      globalLock := locks, returned := (thread, address) :: state.returned } := by
  have moved : Inv target instance_ (state.goto thread .idle) := inv.goto (fun creating => nomatch creating)
    (finished thread).symm (fun settled => nomatch settled) trivial
  apply (moved.record known once _).globalLock
  intro other
  rcases eq_or_ne other thread with rfl | apart
  · simp only [State.goto, Function.update_self]
    rfl
  · simpa only [State.goto, Function.update_of_ne apart] using finished other

/-- Another creator would be about to create the file, which is excluded, or have created it. -/
theorem Inv.openExisting (inv : Inv target instance_ state) (here : state.pc thread = .openExisting)
    (absent : state.file = none) (alone : ∀ other, state.pc other ≠ .create) :
    Inv target instance_ (state.goto thread .create) := by
  refine inv.goto ?_ (by rw [here]; rfl) (fun settled => nomatch settled) absent
  intro _ other also
  simp only [Pc.creating, Bool.or_eq_true, beq_iff_eq] at also
  rcases also with create | unfinished
  · exact absurd create (alone other)
  · have present := inv.exists_of_unfinished unfinished
    rw [absent] at present
    cases present

theorem Inv.create (inv : Inv target instance_ state) (here : state.pc thread = .create) :
    Inv target instance_ { state.goto thread .truncate with file := some (state.file.getD .empty) } := by
  have knows := inv.knows thread
  rw [here] at knows
  have absent : state.file = none := knows
  have empty : state.returned = [] := by
    by_contra some_entry
    obtain ⟨entry, member⟩ := List.exists_mem_of_ne_nil _ some_entry
    cases (inv.absent absent).symm.trans (inv.returned entry member).2
  exact inv.creator (by rw [here]; rfl) rfl (inv.unsettled_of_absent absent) empty rfl (fun _ known => known)
    (fun _ => rfl) ⟨rfl, inv.absent absent⟩ inv.cached

theorem Inv.truncate (inv : Inv target instance_ state) (here : state.pc thread = .truncate) :
    Inv target instance_ { state.goto thread (.map false) with
      file := state.file.map fun file => { file with length := target.granularity } } := by
  have knows := inv.knows thread
  rw [here] at knows
  have unfinished : (state.pc thread).unfinished = true := by rw [here]; rfl
  have exists_ : (state.file.map fun file => { file with length := target.granularity }).isSome = true := by
    rw [Option.isSome_map]
    exact knows.1
  exact inv.creator (Pc.creating_of_unfinished unfinished) rfl (inv.unsettled_of_unfinished unfinished)
    (inv.none_of_unfinished unfinished) exists_ (fun _ known => known) (fun _ => rfl) ⟨exists_, knows.2⟩ inv.cached

/-- With nobody writing, what is read from the file is the address of the header. -/
theorem Inv.readThisAddress (inv : Inv target instance_ state) (here : state.pc thread = .readThisAddress)
    (finished : ∀ other, (state.pc other).unfinished = false) {file : File} (found : state.file = some file) :
    Inv target instance_ (state.goto thread (.storeThisAddress (file.content 0).thisAddress)) := by
  obtain ⟨data, nonzero, once, initialised⟩ := inv.ready finished file found
  refine inv.goto (fun creating => nomatch creating) (by rw [here]; rfl) (fun _ => finished) ?_
  rw [initialised.thisAddress]
  exact ⟨nonzero, once⟩

variable [DecidableEq ι]

theorem Inv.storeThisAddress {address : Nat} (inv : Inv target instance_ state)
    (here : state.pc thread = .storeThisAddress address) :
    Inv target instance_ { state.goto thread .loadCached with
      cache := Function.update state.cache (instance_ thread) address } := by
  have knows := inv.knows thread
  rw [here] at knows
  have finished := inv.settled thread (by rw [here]; rfl)
  apply (inv.cache knows.1 knows.2).goto
  · exact fun creating => nomatch creating
  · change _ = (state.pc thread).unfinished
    rw [here]
    rfl
  · exact fun _ => finished
  · change Function.update state.cache (instance_ thread) address (instance_ thread) ≠ 0
    rw [Function.update_self]
    exact knows.1

theorem Inv.storeData {data : Nat} (inv : Inv target instance_ state) (here : state.pc thread = .storeData data) :
    Inv target instance_ { state.goto thread (.stores data (Store.initializeHeader target data target.granularity)) with
      cache := Function.update state.cache (instance_ thread) data, initialized := data :: state.initialized } := by
  have knows := inv.knows thread
  rw [here] at knows
  obtain ⟨exists_, none_yet, nonzero⟩ := knows
  have unfinished : (state.pc thread).unfinished = true := by rw [here]; rfl
  have uncached : ∀ found, state.cache found = 0 := by
    intro found
    by_contra known
    cases none_yet.symm.trans (inv.cached found known)
  have updated : ∀ found, Function.update state.cache (instance_ thread) data found ≠ 0 →
      Function.update state.cache (instance_ thread) data found = data := by
    intro found known
    rw [Function.update_apply] at known ⊢
    split
    · rfl
    · rename_i elsewhere
      rw [if_neg elsewhere] at known
      exact absurd (uncached found) known
  apply inv.creator (Pc.creating_of_unfinished unfinished) rfl (inv.unsettled_of_unfinished unfinished)
    (inv.none_of_unfinished unfinished) exists_
  · exact fun found known => absurd (uncached found) known
  · exact fun some_entry => absurd none_yet some_entry
  · obtain ⟨file, found⟩ := Option.isSome_iff_exists.mp exists_
    refine ⟨?_, nonzero, by rw [none_yet], file, fun _ => file.content 0, [], found, rfl, rfl⟩
    rw [Function.update_self]
    exact nonzero
  · intro found known
    rw [updated found known, none_yet]

theorem Inv.run (inv : Inv target instance_ state) (undisturbed : Undisturbed state (thread, .run)) {next : State τ ι}
    (taken : state.run target instance_ thread = some next) : Inv target instance_ next := by
  have knows := inv.knows thread
  obtain ⟨opens, reads⟩ := undisturbed rfl
  cases here : state.pc thread with
  | idle | map => simp [State.run, here] at taken
  | isCached =>
      simp only [State.run, here] at taken
      cases taken
      by_cases unknown : state.cache (instance_ thread) = 0
      · rw [if_pos unknown]
        exact inv.wander (by rw [here]; rfl) rfl rfl trivial
      · rw [if_neg unknown]
        exact inv.wander (by rw [here]; rfl) rfl rfl unknown
  | returnCached =>
      rw [here] at knows
      simp only [State.run, here] at taken
      cases taken
      exact inv.returnedAddress knows (inv.cached _ knows) (reads (.inr here))
  | lock =>
      simp only [State.run, here] at taken
      split at taken
      · cases taken
        exact inv
      · cases taken
        have moved : Inv target instance_ (state.goto thread .openExisting) :=
          inv.wander (by rw [here]; rfl) rfl rfl trivial
        exact moved.globalLock
  | openExisting =>
      simp only [State.run, here] at taken
      cases taken
      cases absent : state.file with
      | some file => exact inv.wander (by rw [here]; rfl) rfl rfl (by rw [absent]; rfl)
      | none => exact inv.openExisting here absent (opens here absent)
  | create =>
      simp only [State.run, here] at taken
      cases taken
      exact inv.create here
  | truncate =>
      simp only [State.run, here] at taken
      cases taken
      exact inv.truncate here
  | readThisAddress =>
      simp only [State.run, here] at taken
      split at taken
      · rename_i file found
        split at taken
        · cases taken
        · cases taken
          exact inv.readThisAddress here (reads (.inl here)) found
      · cases taken
  | storeThisAddress address =>
      simp only [State.run, here] at taken
      cases taken
      exact inv.storeThisAddress here
  | storeData data =>
      simp only [State.run, here] at taken
      cases taken
      exact inv.storeData here
  | initializing data store rest =>
      simp only [State.run, here] at taken
      cases taken
      exact inv.initializing here
  | loadCached =>
      rw [here] at knows
      simp only [State.run, here] at taken
      cases taken
      exact inv.goto (fun creating => nomatch creating) (by rw [here]; rfl)
        (fun _ => inv.settled thread (by rw [here]; rfl)) ⟨knows, inv.cached _ knows⟩
  | unlock address =>
      rw [here] at knows
      simp only [State.run, here] at taken
      cases taken
      exact inv.returnedAddress knows.1 knows.2 (inv.settled thread (by rw [here]; rfl))

theorem Inv.step {label : τ × Action} (inv : Inv target instance_ state) (undisturbed : Undisturbed state label)
    {next : State τ ι} (taken : state.step target instance_ label = some next) : Inv target instance_ next := by
  obtain ⟨thread, action⟩ := label
  have knows := inv.knows thread
  cases action with
  | run => exact inv.run undisturbed taken
  | find =>
      simp only [State.step] at taken
      split at taken
      · rename_i here
        cases taken
        exact inv.wander (by rw [here]; rfl) rfl rfl trivial
      · cases taken
  | mapped data =>
      simp only [State.step] at taken
      split at taken
      · rename_i alreadyExisted here
        rw [here] at knows
        split at taken
        · cases taken
        · rename_i nonzero
          cases taken
          cases alreadyExisted with
          | true =>
              exact inv.wander (by rw [here]; rfl) rfl rfl knows
          | false =>
              have creating : (state.pc thread).creating = true := by rw [here]; rfl
              exact inv.goto (fun _ other also => inv.lone other thread also creating) (by rw [here]; rfl)
                (fun settled => nomatch settled) ⟨knows.1, knows.2, nonzero⟩
      · cases taken

/-- All instances agree on one initialised header, in any run in which the calls do not
get in each other's way. -/
theorem run_agreed {start last : State τ ι} {labels : List (τ × Action)} (initial : start.Initial)
    (run : Transition.Run (State.step target instance_) Undisturbed start labels last) : Agreed target last := by
  have preserved : ∀ (state : State τ ι) label next, Inv target instance_ state → Undisturbed state label →
      State.step target instance_ state label = some next → Inv target instance_ next :=
    fun _ _ _ inv undisturbed taken => inv.step undisturbed taken
  exact (run.invariant (Inv target instance_) preserved initial.inv).agreed

instance [Fintype τ] (state : State τ ι) (label : τ × Action) : Decidable (Undisturbed state label) :=
  inferInstanceAs (Decidable (label.2 = .run →
    (state.pc label.1 = .openExisting → state.file = none → ∀ thread, state.pc thread ≠ .create) ∧
    (state.pc label.1 = .readThisAddress ∨ state.pc label.1 = .returnCached →
      ∀ thread, (state.pc thread).unfinished = false)))

/-- Two instances with a thread each, before any call. -/
def twoInstances : State Bool Bool where
  file := none
  cache _ := 0
  globalLock _ := false
  pc _ := .idle
  initialized := []
  returned := []

theorem twoInstances_initial : twoInstances.Initial := ⟨rfl, fun _ => rfl, fun _ => rfl, rfl, rfl⟩

/-- One instance creates the file and the other finds it. -/
theorem run_agreed_twice : ∃ last : State Bool Bool, last.returned = [(true, 0x10000), (false, 0x10000)] ∧
    Agreed smallTarget last := by
  have schedule : ∃ last, Transition.execute (Transition.restrict (State.step smallTarget id) Undisturbed) twoInstances
      ([(false, Action.find), (true, Action.find)] ++ List.replicate 5 (false, Action.run) ++
        [(false, Action.mapped 0x10000)] ++ List.replicate 9 (false, Action.run) ++
        List.replicate 3 (true, Action.run) ++ [(true, Action.mapped 0x20000)] ++
        List.replicate 4 (true, Action.run)) = some last ∧
      last.returned = [(true, 0x10000), (false, 0x10000)] := ⟨_, rfl, rfl⟩
  obtain ⟨last, result, returned⟩ := schedule
  exact ⟨last, returned, run_agreed twoInstances_initial (Transition.execute_restrict result)⟩

/-- Both fail to open the file before either has created it, and then both take what
they open for new. -/
theorem run_disagreed : ∃ last : State Bool Bool, ∃ labels,
    Transition.Run (State.step smallTarget id) Transition.always twoInstances labels last ∧
    last.returned = [(true, 0x20000), (false, 0x10000)] ∧ ¬ Agreed smallTarget last := by
  have schedule : ∃ last, Transition.execute (State.step smallTarget id) twoInstances
      ([(false, Action.find), (true, Action.find)] ++ List.replicate 3 (false, Action.run) ++
        List.replicate 3 (true, Action.run) ++ List.replicate 2 (false, Action.run) ++
        [(false, Action.mapped 0x10000)] ++ List.replicate 9 (false, Action.run) ++
        List.replicate 2 (true, Action.run) ++ [(true, Action.mapped 0x20000)] ++
        List.replicate 9 (true, Action.run)) = some last ∧
      last.returned = [(true, 0x20000), (false, 0x10000)] := ⟨_, rfl, rfl⟩
  obtain ⟨last, result, returned⟩ := schedule
  refine ⟨last, _, Transition.execute_run (fun _ _ _ => trivial) result, returned, ?_⟩
  intro agreed
  have same := agreed.same (true, 0x20000) (by rw [returned]; simp) (false, 0x10000) (by rw [returned]; simp)
  cases same

end SharedFile

end ReloadedBuffers
