import ReloadedBuffers.Concurrency.Ownership

/-! `append_bytes` on a shared locator, one access at a time: the loads of the base
address and of the position, the copy byte by byte, and the load and the store of
`self.position +=`. No lock is taken for any of it; what keeps appends whole is that a
thread appends only through an item that it holds.
-/

set_option autoImplicit false

namespace ReloadedBuffers

namespace SharedLocator

/-- The next access of `append_bytes`, with what has been loaded so far. -/
inductive Access where
  | loadBase
  | loadPosition (base : Nat)
  | copy (address copied : Nat)
  | loadAgain (address : Nat)
  | storePosition (address : Nat) (position : UInt32)
  deriving DecidableEq, Repr

/-- A call of `append_bytes` that has not returned. -/
structure Appending where
  slot : Nat
  data : List UInt8
  access : Access
  deriving DecidableEq, Repr

/-- An append that has returned, and the address it has returned. -/
structure Written where
  slot : Nat
  address : Nat
  data : List UInt8
  deriving DecidableEq, Repr

/-- The locator, the calls of `append_bytes` and the memory of the buffers. The last
field records the appends that have returned, in this order. -/
structure Session (τ : Type) where
  locator : State τ
  appending : τ → Option Appending
  memory : Nat → UInt8
  written : List Written

inductive Event where
  /-- A step of the locator that is not an append. -/
  | call (action : Action)
  | appendBytes (slot : Nat) (data : List UInt8)
  /-- The next access of the `append_bytes` that the thread is in. -/
  | access
  deriving DecidableEq, Repr

def Action.isAppend : Action → Bool
  | .append _ _ => true
  | _ => false

namespace Session

variable {τ : Type} [DecidableEq τ]

def goto (session : Session τ) (thread : τ) (appending : Option Appending) : Session τ :=
  { session with appending := Function.update session.appending thread appending }

/-- The next access of a thread that is in `append_bytes`. -/
def access (width : PointerWidth) (session : Session τ) (thread : τ) : Option (Session τ) :=
  match session.appending thread with
  | none => none
  | some ⟨slot, data, access⟩ =>
    let item := session.locator.items slot
    match access with
    | .loadBase => some (session.goto thread (some ⟨slot, data, .loadPosition item.baseAddress⟩))
    | .loadPosition base =>
      some (session.goto thread (some ⟨slot, data, .copy (Words.add width.modulus base item.position.toNat) 0⟩))
    | .copy address copied =>
      match data[copied]? with
      | some byte =>
        let session := session.goto thread (some ⟨slot, data, .copy address (copied + 1)⟩)
        some { session with memory := Function.update session.memory (address + copied) byte }
      | none => some (session.goto thread (some ⟨slot, data, .loadAgain address⟩))
    | .loadAgain address => some (session.goto thread (some ⟨slot, data, .storePosition address item.position⟩))
    | .storePosition address position =>
      some { session.goto thread none with
        locator := session.locator.setItem slot { item with position := position + UInt32.ofNat data.length }
        written := session.written ++ [⟨slot, address, data⟩] }

def step (width : PointerWidth) (session : Session τ) : τ × Event → Option (Session τ)
  | (thread, .call action) =>
    if session.appending thread = none ∧ action.isAppend = false then
      (session.locator.step width (thread, action)).map fun locator => { session with locator := locator }
    else none
  | (thread, .appendBytes slot data) =>
    if session.appending thread = none ∧ session.locator.pc thread = .idle ∧
        session.locator.live.contains (thread, slot) then
      some (session.goto thread (some ⟨slot, data, .loadBase⟩))
    else none
  | (thread, .access) => session.access width thread

/-- Before any call. -/
structure Initial (width : PointerWidth) (session : Session τ) : Prop where
  locator : session.locator.Initial width
  appending : ∀ thread, session.appending thread = none
  written : session.written = []

end Session

/-- What one step of a thread does to the items. -/
inductive Touches {τ : Type} (state : State τ) (thread : τ) : Action → (Nat → LocatorItem) → Prop where
  | nothing {action : Action} : Touches state thread action state.items
  | tryLock {settings : BufferSearchSettings} {final slot : Nat} : state.pc thread = .tryLock settings final slot →
      Touches state thread .run (Function.update state.items slot { state.items slot with isTaken := 1 })
  | drop {slot : Nat} : state.pc thread = .idle → (thread, slot) ∈ state.live →
      Touches state thread (.drop slot) (Function.update state.items slot (state.items slot).unlock)
  | store {item : LocatorItem} {slot : Nat} {field : Field} {rest : List Field} :
      state.pc thread = .store item slot field rest →
      Touches state thread .run (Function.update state.items slot (field.copy item (state.items slot)))
  | append {slot count : Nat} : state.pc thread = .idle → (thread, slot) ∈ state.live →
      Touches state thread (.append slot count)
        (Function.update state.items slot ((state.items slot).advance count))

section Step

variable {τ : Type} {width : PointerWidth} {initial : Nat} {state after : State τ} {thread other : τ}
  {action : Action} {slot : Nat}

/-- An item whose owner is between calls is registered. -/
theorem Inv.owned_registered (inv : Inv width initial state) (idle : state.pc other = .idle)
    (owned : (other, slot) ∈ state.live) : slot < state.numItems.toNat := by
  apply (inv.living.placed _ owned).resolve_right
  rw [idle]
  nofun

variable [DecidableEq τ]

theorem State.run_touches (taken : state.run width thread = some after) : Touches state thread .run after.items := by
  cases here : state.pc thread with
  | idle => simp [State.run, here] at taken
  | allocate settings => simp [State.run, here] at taken
  | tryLock settings final slot =>
      simp only [State.run, here, LocatorItem.tryLock, beq_iff_eq] at taken
      by_cases free : (state.items slot).isTaken = 0
      · rw [if_pos free] at taken
        cases taken
        exact .tryLock here
      · rw [if_neg free] at taken
        cases taken
        exact .tryLock here
  | store item slot field rest =>
      simp only [State.run, here] at taken
      split at taken <;> cases taken <;> exact .store here
  | lock settings =>
      simp only [State.run, here] at taken
      split at taken <;> cases taken <;> exact .nothing
  | canUse settings final slot load =>
      simp only [State.run, here] at taken
      split at taken <;> cases taken <;> exact .nothing
  | readCount | returning | isFull | isFullLocked | getItem | loadCount | storeCount | unlock =>
      simp only [State.run, here] at taken
      cases taken
      exact .nothing

theorem State.step_touches (taken : state.step width (thread, action) = some after) :
    Touches state thread action after.items := by
  cases action with
  | run => exact State.run_touches taken
  | getFirst settings =>
      simp only [State.step] at taken
      split at taken <;> cases taken
      exact .nothing
  | tryAllocate settings =>
      simp only [State.step] at taken
      split at taken <;> cases taken
      exact .nothing
  | reply allocated =>
      simp only [State.step] at taken
      split at taken
      · split at taken <;> cases taken <;> exact .nothing
      · cases taken
  | append slot count =>
      simp only [State.step] at taken
      split at taken
      · rename_i owner
        cases taken
        exact .append owner.1 owner.2
      · cases taken
  | drop slot =>
      simp only [State.step] at taken
      split at taken
      · rename_i owner
        cases taken
        exact .drop owner.1 owner.2
      · cases taken

/-- A thread moves only itself. -/
theorem State.step_pc (taken : state.step width (thread, action) = some after) (apart : other ≠ thread) :
    after.pc other = state.pc other := by
  cases action with
  | run =>
      simp only [State.step, State.run] at taken
      split at taken <;> try split at taken
      all_goals
        cases taken <;> simp [State.goto, State.setItem, Function.update_of_ne apart]
  | getFirst settings | tryAllocate settings =>
      simp only [State.step] at taken
      split at taken <;> cases taken
      simp [State.goto, Function.update_of_ne apart]
  | reply allocated =>
      simp only [State.step] at taken
      split at taken
      · split at taken <;> cases taken <;> simp [State.goto, Function.update_of_ne apart]
      · cases taken
  | append slot count =>
      simp only [State.step] at taken
      split at taken <;> cases taken
      rfl
  | drop slot =>
      simp only [State.step] at taken
      split at taken <;> cases taken
      rfl

/-- Only its owner gives an item up. -/
theorem State.step_live (taken : state.step width (thread, action) = some after) (apart : other ≠ thread)
    (owned : (other, slot) ∈ state.live) : (other, slot) ∈ after.live := by
  cases action with
  | run =>
      simp only [State.step, State.run] at taken
      split at taken <;> try split at taken
      all_goals
        cases taken <;> simp [State.goto, State.setItem, owned]
  | getFirst settings | tryAllocate settings =>
      simp only [State.step] at taken
      split at taken <;> cases taken
      exact owned
  | reply allocated =>
      simp only [State.step] at taken
      split at taken
      · split at taken <;> cases taken <;> exact owned
      · cases taken
  | append slot count =>
      simp only [State.step] at taken
      split at taken <;> cases taken
      exact owned
  | drop slot =>
      simp only [State.step] at taken
      split at taken <;> cases taken
      refine (List.mem_erase_of_ne ?_).mpr owned
      exact fun same => apart (congrArg Prod.fst same)

/-- A registered item keeps its fields, its lock word apart, unless something is
appended to it. -/
theorem Inv.kept_item (inv : Inv width initial state) (registered : slot < state.numItems.toNat)
    (unappended : ∀ count, action ≠ .append slot count) (taken : state.step width (thread, action) = some after) :
    ∃ word, after.items slot = { state.items slot with isTaken := word } := by
  have touched := State.step_touches taken
  have knows := inv.counting.knows thread
  revert touched
  generalize after.items = items
  intro touched
  cases touched with
  | nothing => exact ⟨_, rfl⟩
  | @tryLock settings final place =>
      rcases eq_or_ne slot place with rfl | elsewhere
      · exact ⟨1, Function.update_self _ _ _⟩
      · exact ⟨_, Function.update_of_ne elsewhere _ _⟩
  | @drop place =>
      rcases eq_or_ne slot place with rfl | elsewhere
      · exact ⟨0, Function.update_self _ _ _⟩
      · exact ⟨_, Function.update_of_ne elsewhere _ _⟩
  | store here =>
      -- The slot that is being filled lies behind the registered ones.
      rw [here] at knows
      have elsewhere : slot ≠ _ := Nat.ne_of_lt (knows.2.1 ▸ registered)
      exact ⟨_, Function.update_of_ne elsewhere _ _⟩
  | @append place count =>
      have elsewhere : slot ≠ place := by
        rintro rfl
        exact unappended count rfl
      exact ⟨_, Function.update_of_ne elsewhere _ _⟩

/-- Whatever another thread does, an item keeps its fields while its owner is between
calls, its lock word apart. -/
theorem Inv.frame (inv : Inv width initial state) (idle : state.pc other = .idle) (owned : (other, slot) ∈ state.live)
    (apart : other ≠ thread) (taken : state.step width (thread, action) = some after) :
    ∃ word, after.items slot = { state.items slot with isTaken := word } := by
  apply inv.kept_item (inv.owned_registered idle owned) _ taken
  rintro count rfl
  simp only [State.step] at taken
  split at taken
  · rename_i owner
    have same := List.inj_on_of_nodup_map inv.living.nodup owned owner.2 rfl
    exact apart (congrArg Prod.fst same)
  · cases taken

/-- Items are counted one at a time, by the last access of a registration. -/
theorem State.step_numItems (taken : state.step width (thread, action) = some after) :
    after.numItems = state.numItems ∨
      ∃ slot count, state.pc thread = .storeCount slot count ∧ after.numItems = count + 1 ∧
        after.items = state.items := by
  cases action with
  | run =>
      simp only [State.step] at taken
      cases here : state.pc thread with
      | storeCount place count =>
          simp only [State.run, here] at taken
          cases taken
          exact .inr ⟨place, count, rfl, rfl, rfl⟩
      | idle | allocate => simp [State.run, here] at taken
      | _ =>
          simp only [State.run, here] at taken
          try split at taken
          all_goals
            cases taken
            exact .inl rfl
  | getFirst settings | tryAllocate settings =>
      simp only [State.step] at taken
      split at taken <;> cases taken
      exact .inl rfl
  | reply allocated =>
      simp only [State.step] at taken
      split at taken
      · split at taken <;> cases taken <;> exact .inl rfl
      · cases taken
  | append slot count | drop slot =>
      simp only [State.step] at taken
      split at taken <;> cases taken
      exact .inl rfl

end Step

/-- What has been loaded is what the item still says. -/
def Access.Current (width : PointerWidth) (item : LocatorItem) : Access → Prop
  | .loadBase => True
  | .loadPosition base => base = item.baseAddress
  | .copy address _ | .loadAgain address => address = item.cursor width.modulus
  | .storePosition address position => address = item.cursor width.modulus ∧ position = item.position

/-- The thread in a call of `append_bytes` holds the item, and has read it as it is. -/
structure Appending.Owned {τ : Type} (width : PointerWidth) (state : State τ) (thread : τ)
    (appending : Appending) : Prop where
  idle : state.pc thread = .idle
  owner : (thread, appending.slot) ∈ state.live
  current : appending.access.Current width (state.items appending.slot)

structure Session.Inv {τ : Type} (width : PointerWidth) (initial : Nat) (session : Session τ) : Prop where
  locator : SharedLocator.Inv width initial session.locator
  owned : ∀ thread appending, session.appending thread = some appending →
    appending.Owned width session.locator thread

/-- The appends of a run of the locator. -/
def appended {τ : Type} : τ × Action → Option (Nat × Nat)
  | (_, .append slot count) => some (slot, count)
  | _ => none

section Atomic

variable {τ : Type} {width : PointerWidth} {initial : Nat} {session after : Session τ} {thread : τ}

theorem Session.Initial.inv (start : session.Initial width) :
    session.Inv width session.locator.numItems.toNat where
  locator := start.locator.inv
  owned thread appending found := by
    rw [start.appending] at found
    cases found

theorem Access.Current.lockWord {item : LocatorItem} {access : Access} {word : Int32}
    (current : access.Current width item) : access.Current width { item with isTaken := word } := by
  cases access with
  | loadBase => trivial
  | loadPosition base => exact current
  | copy address copied => exact current
  | loadAgain address => exact current
  | storePosition address position => exact current

variable [DecidableEq τ]

/-- A step of the locator by one thread leaves the calls of the others as they were. -/
theorem Appending.Owned.frame {state next : State τ} {other : τ} {action : Action} {appending : Appending}
    (owned : appending.Owned width state other) (inv : SharedLocator.Inv width initial state) (apart : other ≠ thread)
    (taken : state.step width (thread, action) = some next) : appending.Owned width next other where
  idle := (State.step_pc taken apart).trans owned.idle
  owner := State.step_live taken apart owned.owner
  current := by
    obtain ⟨word, same⟩ := inv.frame owned.idle owned.owner apart taken
    rw [same]
    exact owned.current.lockWord

/-- A step of the locator that is not an append, by a thread outside `append_bytes`. -/
theorem Session.Inv.call {action : Action} {next : State τ} (inv : session.Inv width initial)
    (outside : session.appending thread = none) (taken : session.locator.step width (thread, action) = some next) :
    Session.Inv width initial { session with locator := next } where
  locator := inv.locator.step taken
  owned other appending found := by
    have apart : other ≠ thread := by
      rintro rfl
      rw [outside] at found
      cases found
    exact (inv.owned other appending found).frame inv.locator apart taken

/-- A thread in `append_bytes` loads something, or copies a byte. -/
theorem Session.Inv.goto {appending : Appending} {memory : Nat → UInt8} (inv : session.Inv width initial)
    (owned : appending.Owned width session.locator thread) :
    Session.Inv width initial { session.goto thread (some appending) with memory := memory } where
  locator := inv.locator
  owned other found here := by
    simp only [Session.goto] at here
    rcases eq_or_ne other thread with rfl | apart
    · rw [Function.update_self] at here
      cases here
      exact owned
    · rw [Function.update_of_ne apart] at here
      exact inv.owned other found here

/-- One access of `append_bytes`: the last one is the whole append as far as the locator
goes, the others are nothing. -/
theorem Session.Inv.access (inv : session.Inv width initial) (taken : session.access width thread = some after) :
    after.Inv width initial ∧
      ((after.locator = session.locator ∧ after.written = session.written) ∨
        ∃ record : Written, after.written = session.written ++ [record] ∧
          record.address = (session.locator.items record.slot).cursor width.modulus ∧
          session.locator.step width (thread, .append record.slot record.data.length) = some after.locator) := by
  cases found : session.appending thread with
  | none => simp [Session.access, found] at taken
  | some appending =>
      have owned := inv.owned thread appending found
      obtain ⟨slot, data, access⟩ := appending
      cases access with
      | loadBase =>
          simp only [Session.access, found] at taken
          cases taken
          exact ⟨inv.goto ⟨owned.idle, owned.owner, rfl⟩, .inl ⟨rfl, rfl⟩⟩
      | loadPosition base =>
          simp only [Session.access, found] at taken
          cases taken
          have loaded : base = (session.locator.items slot).baseAddress := owned.current
          exact ⟨inv.goto ⟨owned.idle, owned.owner, by rw [loaded]; rfl⟩, .inl ⟨rfl, rfl⟩⟩
      | copy address copied =>
          simp only [Session.access, found] at taken
          split at taken <;> cases taken
          · exact ⟨inv.goto ⟨owned.idle, owned.owner, owned.current⟩, .inl ⟨rfl, rfl⟩⟩
          · exact ⟨inv.goto ⟨owned.idle, owned.owner, owned.current⟩, .inl ⟨rfl, rfl⟩⟩
      | loadAgain address =>
          simp only [Session.access, found] at taken
          cases taken
          exact ⟨inv.goto ⟨owned.idle, owned.owner, owned.current, rfl⟩, .inl ⟨rfl, rfl⟩⟩
      | storePosition address position =>
          simp only [Session.access, found] at taken
          cases taken
          obtain ⟨cursor, rfl⟩ : address = (session.locator.items slot).cursor width.modulus ∧
            position = (session.locator.items slot).position := owned.current
          -- The position has not moved since it was loaded, so the store adds the length to it.
          have atomic : session.locator.step width (thread, .append slot data.length) =
              some (session.locator.setItem slot ((session.locator.items slot).advance data.length)) := by
            simp only [State.step]
            exact if_pos ⟨owned.idle, owned.owner⟩
          refine ⟨⟨inv.locator.step atomic, ?_⟩, .inr ⟨_, rfl, cursor, atomic⟩⟩
          intro other appending here
          simp only [Session.goto] at here
          rcases eq_or_ne other thread with rfl | apart
          · rw [Function.update_self] at here
            cases here
          · rw [Function.update_of_ne apart] at here
            exact (inv.owned other appending here).frame inv.locator apart atomic

/-- One step, and what it is to the locator with atomic appends. -/
theorem Session.Inv.step {label : τ × Event} (inv : session.Inv width initial)
    (taken : session.step width label = some after) :
    after.Inv width initial ∧ ∃ events, Transition.Run (State.step width) Transition.always session.locator events
        after.locator ∧
      after.written.map (fun record => (record.slot, record.data.length)) =
        session.written.map (fun record => (record.slot, record.data.length)) ++ events.filterMap appended := by
  obtain ⟨thread, event⟩ := label
  cases event with
  | call action =>
      simp only [Session.step] at taken
      split at taken
      · rename_i outside
        obtain ⟨next, stepped, rfl⟩ := Option.map_eq_some_iff.mp taken
        refine ⟨inv.call outside.1 stepped, [(thread, action)], .single trivial stepped, ?_⟩
        cases action <;> simp_all [appended, Action.isAppend]
      · cases taken
  | appendBytes slot data =>
      simp only [Session.step] at taken
      split at taken <;> cases taken
      rename_i outside
      exact ⟨inv.goto ⟨outside.2.1, List.contains_iff_mem.mp outside.2.2, trivial⟩, [], .nil, by simp [Session.goto]⟩
  | access =>
      obtain ⟨preserved, nothing | ⟨record, logged, _, atomic⟩⟩ := inv.access taken
      · exact ⟨preserved, [], nothing.1 ▸ .nil, by simp [nothing.2]⟩
      · exact ⟨preserved, _, .single trivial atomic, by simp [logged, appended]⟩

/-- Appends made of single accesses are atomic: every interleaving of them is, on the
locator, a run in which each append is one step, and takes place in the order in which
the appends return. -/
theorem appends_atomic {start last : Session τ} {labels : List (τ × Event)} (initialised : start.Initial width)
    (run : Transition.Run (Session.step width) Transition.always start labels last) :
    ∃ events, Transition.Run (State.step width) Transition.always start.locator events last.locator ∧
      last.written.map (fun record => (record.slot, record.data.length)) = events.filterMap appended := by
  obtain ⟨_, events, reached, observed⟩ := run.simulate (Session.Inv width start.locator.numItems.toNat)
    Session.locator (fun session => session.written.map fun record => (record.slot, record.data.length)) appended
    (fun _ _ _ inv _ taken => inv.step taken) initialised.inv
  refine ⟨events, reached, ?_⟩
  rw [observed, initialised.written]
  rfl

end Atomic

/-- A locator without items, and two threads. -/
def noItems : Session Bool where
  locator :=
    { isLocked := 0, numItems := 0, items := fun _ => ⟨0, 0, 0, 0⟩, pc := fun _ => .idle, live := [],
      registrations := [], stores := fun _ => [], assertionFailed := false }
  appending _ := none
  memory _ := 0
  written := []

theorem noItems_initial : noItems.Initial .bits64 where
  locator :=
    { isLocked := rfl, bound := by decide, idle := fun _ => rfl, live := rfl, registrations := rfl,
      below := fun _ inside => absurd inside (Nat.not_lt_zero _), above := fun _ _ => rfl, assertionFailed := rfl }
  appending _ := rfl
  written := rfl

/-- Both threads register an item and append to it at the same time. -/
def sideBySide : List (Bool × Event) :=
  let register (thread : Bool) (base : Nat) : List (Bool × Event) :=
    [(thread, .call (.tryAllocate ⟨0, 0x7FFFFFFFFFFF, 100⟩))] ++ List.replicate 3 (thread, .call .run) ++
      [(thread, .call (.reply (some (base, 4096))))] ++ List.replicate 8 (thread, .call .run)
  register false 0x20000 ++ register true 0x30000 ++
    [(false, .appendBytes 0 [1, 2]), (true, .appendBytes 1 [3])] ++
    (List.replicate 6 [(true, Event.access), (false, Event.access)]).flatten ++ [(false, .access)]

/-- The first thread starts first and returns last. -/
theorem appends_atomic_twice : ∃ last : Session Bool,
    last.written = [⟨1, 0x30000, [3]⟩, ⟨0, 0x20000, [1, 2]⟩] ∧ ∃ events,
      Transition.Run (State.step .bits64) Transition.always noItems.locator events last.locator ∧
      last.written.map (fun record => (record.slot, record.data.length)) = events.filterMap appended := by
  have schedule : ∃ last, Transition.execute (Session.step .bits64) noItems sideBySide = some last ∧
      last.written = [⟨1, 0x30000, [3]⟩, ⟨0, 0x20000, [1, 2]⟩] := ⟨_, rfl, rfl⟩
  obtain ⟨last, result, written⟩ := schedule
  exact ⟨last, written, appends_atomic noItems_initial (Transition.execute_run (fun _ _ _ => trivial) result)⟩

end SharedLocator

end ReloadedBuffers
